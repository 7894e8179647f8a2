import MathTokens.Number.Rounding

/-! Rounding in units of the least number. Common factors cancel, every rank is the nearest one to
its own magnitude, a whole number stays whole, and no finite rank reaches 2^1024. -/
namespace MathTokens

theorem roundHalfEvenWhole (n : Nat) : roundHalfEven n 1 = n := by
  simp [roundHalfEven, Nat.mod_one]

theorem roundHalfEvenScaled (a b : Nat) {k : Nat} (positive : 0 < k) :
    roundHalfEven (a * k) (b * k) = roundHalfEven a b := by
  have quotient : a * k / (b * k) = a / b := Nat.mul_div_mul_right a b positive
  have remainder : a * k % (b * k) = a % b * k := Nat.mul_mod_mul_right k a b
  have below : 2 * (a % b * k) < b * k ↔ 2 * (a % b) < b := by
    rw [← Nat.mul_assoc]
    exact Nat.mul_lt_mul_right positive
  have above : b * k < 2 * (a % b * k) ↔ b < 2 * (a % b) := by
    rw [← Nat.mul_assoc]
    exact Nat.mul_lt_mul_right positive
  simp only [roundHalfEven, quotient, remainder, below, above]

theorem roundHalfEvenCases (num den : Nat) :
    (roundHalfEven num den = num / den ∧ 2 * (num % den) ≤ den ∨
      roundHalfEven num den = num / den + 1 ∧ den ≤ 2 * (num % den)) ∧
      (2 * (num % den) = den → roundHalfEven num den % 2 = 0) := by
  simp only [roundHalfEven]
  split
  · omega
  · split <;> omega

theorem quotientLeRoundHalfEven (num den : Nat) : num / den ≤ roundHalfEven num den := by
  obtain ⟨sides, _⟩ := roundHalfEvenCases num den
  omega

theorem roundHalfEvenLeQuotient (num den : Nat) : roundHalfEven num den ≤ num / den + 1 := by
  obtain ⟨sides, _⟩ := roundHalfEvenCases num den
  omega

namespace Double

theorem rankOfScaled (a b : Nat) {k : Nat} (positive : 0 < k) :
    rankOf (a * k) (b * k) = rankOf a b := by
  have quotient : a * k / (b * k) = a / b := Nat.mul_div_mul_right a b positive
  have step (p : Nat) : b * k * p = b * p * k := Nat.mul_right_comm b k p
  simp only [rankOf, quotient, step, roundHalfEvenScaled _ _ positive]

theorem rankOfStep {m : Nat} (low : blockSize ≤ m) (high : m < 2 * blockSize) (k : Nat) :
    rankOf (m * Nat.pow 2 k) 1 = k * blockSize + m := by
  have positive : 0 < Nat.pow 2 k := Nat.two_pow_pos k
  rw [rankOf, Nat.div_one]
  split
  · next small =>
    cases k with
    | zero => simp [roundHalfEvenWhole]
    | succ k =>
      have double : Nat.pow 2 (k + 1) = 2 * Nat.pow 2 k := Nat.pow_succ'
      have grown : blockSize * 2 ≤ m * Nat.pow 2 (k + 1) :=
        Nat.mul_le_mul low (by have := Nat.two_pow_pos k; simp only [Nat.pow_eq] at *; omega)
      omega
  · next large =>
    have bits : (m * Nat.pow 2 k).log2 = 52 + k := by
      have nonzero : m * Nat.pow 2 k ≠ 0 := by
        have : 0 < m := Nat.lt_of_lt_of_le (by decide) low
        exact Nat.ne_of_gt (Nat.mul_pos this positive)
      rw [Nat.log2_eq_iff nonzero]
      constructor
      · rw [Nat.pow_add]
        exact Nat.mul_le_mul_right _ low
      · rw [show 52 + k + 1 = 53 + k by omega, Nat.pow_add]
        exact Nat.mul_lt_mul_of_pos_right high positive
    have rounded := roundHalfEvenScaled m 1 positive
    have shift : 52 + k - 52 = k := by omega
    simp only [bits, shift, rounded, roundHalfEvenWhole]

theorem unitsSmall {rank : Nat} (small : rank < 2 * blockSize) : units rank = rank := by
  unfold units
  split
  · rfl
  · next large =>
    have positive : 0 < blockSize := by decide
    obtain ⟨r, rfl⟩ := Nat.exists_eq_add_of_le (Nat.le_of_not_lt large)
    have inside : r < blockSize := by omega
    rw [Nat.add_mod_left, Nat.mod_eq_of_lt inside, Nat.add_div_left _ positive,
      Nat.div_eq_of_lt inside]
    exact Nat.mul_one _

/- The multiple may reach the next block, whose first rank is the same magnitude. -/
theorem unitsStep {m : Nat} (low : blockSize ≤ m) (high : m ≤ 2 * blockSize) (k : Nat) :
    units (k * blockSize + m) = m * Nat.pow 2 k := by
  have positive : 0 < blockSize := by decide
  have grown : ¬k * blockSize + m < blockSize := by omega
  obtain ⟨r, rfl⟩ := Nat.exists_eq_add_of_le low
  have blocks : k * blockSize + (blockSize + r) = r + (k + 1) * blockSize := by
    rw [Nat.succ_mul]
    omega
  rw [units, if_neg grown, blocks, Nat.add_mul_mod_self_right, Nat.add_mul_div_right _ _ positive]
  rcases Nat.lt_or_eq_of_le (show r ≤ blockSize by omega) with inside | rfl
  · rw [Nat.mod_eq_of_lt inside, Nat.div_eq_of_lt inside]
    simp
  · have double : Nat.pow 2 (k + 1) = 2 * Nat.pow 2 k := Nat.pow_succ'
    rw [Nat.mod_self, Nat.div_self positive, Nat.add_zero, Nat.add_sub_cancel_left, double,
      Nat.mul_left_comm, Nat.add_mul, Nat.two_mul]

theorem rankParts {rank : Nat} (large : blockSize ≤ rank) :
    ∃ k m, rank = k * blockSize + m ∧ blockSize ≤ m ∧ m < 2 * blockSize := by
  have positive : 0 < blockSize := by decide
  have block : 1 ≤ rank / blockSize := (Nat.one_le_div_iff positive).mpr large
  have inside : rank % blockSize < blockSize := Nat.mod_lt _ positive
  have parts : blockSize * (rank / blockSize) + rank % blockSize = rank :=
    Nat.div_add_mod rank blockSize
  have last : (rank / blockSize - 1) * blockSize + blockSize = blockSize * (rank / blockSize) := by
    rw [← Nat.succ_mul, Nat.mul_comm]
    congr 1
    omega
  exact ⟨rank / blockSize - 1, blockSize + rank % blockSize, by omega, by omega, by omega⟩

theorem rankOfUnits (rank : Nat) : rankOf (units rank) 1 = rank := by
  rcases Nat.lt_or_ge rank blockSize with small | large
  · have few : rank < 2 * blockSize := by omega
    rw [unitsSmall few, rankOf, Nat.div_one, if_pos few, roundHalfEvenWhole]
  · obtain ⟨k, m, rfl, low, high⟩ := rankParts large
    rw [unitsStep low (Nat.le_of_lt high), rankOfStep low high]

theorem stepFloor {q : Nat} (large : 2 * blockSize ≤ q) :
    blockSize * Nat.pow 2 (q.log2 - 52) ≤ q := by
  have nonzero : q ≠ 0 := by
    have : 0 < blockSize := by decide
    omega
  have bits : 53 ≤ q.log2 := (Nat.le_log2 nonzero).mpr large
  calc
    blockSize * Nat.pow 2 (q.log2 - 52) = 2 ^ (52 + (q.log2 - 52)) := (Nat.pow_add 2 52 _).symm
    _ = 2 ^ q.log2 := by congr 1; omega
    _ ≤ q := Nat.log2_self_le nonzero

theorem rankOfSteps {q : Nat} (large : 2 * blockSize ≤ q) :
    ∃ m, m = roundHalfEven q (Nat.pow 2 (q.log2 - 52)) ∧ blockSize ≤ m ∧ m ≤ 2 * blockSize ∧
      rankOf q 1 = (q.log2 - 52) * blockSize + m := by
  have nonzero : q ≠ 0 := by
    have : 0 < blockSize := by decide
    omega
  have bits : 53 ≤ q.log2 := (Nat.le_log2 nonzero).mpr large
  obtain ⟨k, exact⟩ := Nat.exists_eq_add_of_le (Nat.le_of_succ_le bits)
  have shift : q.log2 - 52 = k := by omega
  have positive : 0 < Nat.pow 2 k := Nat.two_pow_pos k
  have floor := stepFloor large
  rw [shift] at floor
  have ceiling : q < 2 * blockSize * Nat.pow 2 k := calc
    q < 2 ^ (q.log2 + 1) := Nat.lt_log2_self
    _ = 2 ^ (53 + k) := by rw [exact]; congr 1; omega
    _ = 2 * blockSize * Nat.pow 2 k := Nat.pow_add 2 53 k
  rw [shift]
  refine ⟨_, rfl, ?_, ?_, ?_⟩
  · exact Nat.le_trans ((Nat.le_div_iff_mul_le positive).mpr floor) (quotientLeRoundHalfEven q _)
  · have quotient := (Nat.div_lt_iff_lt_mul positive).mpr ceiling
    have rounded := roundHalfEvenLeQuotient q (Nat.pow 2 k)
    omega
  · simp only [rankOf, Nat.div_one, if_neg (Nat.not_lt.mpr large), shift, Nat.one_mul]

theorem blocksLeRankOf {k q : Nat} (large : Nat.pow 2 (52 + k) ≤ q) (many : 0 < k) :
    (k + 1) * blockSize ≤ rankOf q 1 := by
  have nonzero : q ≠ 0 := Nat.ne_of_gt (Nat.lt_of_lt_of_le (Nat.two_pow_pos _) large)
  have bits : 52 + k ≤ q.log2 := (Nat.le_log2 nonzero).mpr large
  have wide : Nat.pow 2 53 ≤ Nat.pow 2 (52 + k) := Nat.pow_le_pow_right (by decide) (by omega)
  obtain ⟨m, _, low, _, rank⟩ := rankOfSteps (Nat.le_trans wide large)
  have blocks : k * blockSize ≤ (q.log2 - 52) * blockSize := Nat.mul_le_mul_right _ (by omega)
  rw [rank, Nat.succ_mul]
  exact Nat.add_le_add blocks low

theorem blocksLeRankOfScaled {a b k n : Nat} (exponents : a + b = 52 + k) (many : 0 < k)
    (large : Nat.pow 2 a ≤ n) : (k + 1) * blockSize ≤ rankOf (n * Nat.pow 2 b) 1 := by
  have reach : Nat.pow 2 (52 + k) ≤ n * Nat.pow 2 b := calc
    Nat.pow 2 (52 + k) = Nat.pow 2 a * Nat.pow 2 b := by
      rw [← exponents]
      exact Nat.pow_add 2 a b
    _ ≤ n * Nat.pow 2 b := Nat.mul_le_mul_right _ large
  exact blocksLeRankOf reach many

theorem rankOfLarge {n : Nat} (large : Nat.pow 2 1024 ≤ n) :
    rankCount ≤ rankOf (n * unitsPerOne) 1 := by
  unfold unitsPerOne
  generalize magnitude : 1024 = a at large
  generalize unit : 1074 = b
  exact blocksLeRankOfScaled (k := 2046) (by omega) (by decide) large

theorem unitsOfWhole (n total : Nat) :
    Nat.pow 2 total ∣ units (rankOf (n * Nat.pow 2 total) 1) := by
  have exact : Nat.pow 2 total ∣ n * Nat.pow 2 total := Nat.dvd_mul_left _ n
  generalize n * Nat.pow 2 total = q at exact
  by_cases small : q < 2 * blockSize
  · rwa [rankOf, Nat.div_one, if_pos small, roundHalfEvenWhole, unitsSmall small]
  · obtain ⟨m, rounded, low, high, rank⟩ := rankOfSteps (Nat.le_of_not_lt small)
    rw [rank, unitsStep low high, rounded]
    generalize q.log2 - 52 = k
    rcases Nat.le_total k total with fine | coarse
    · obtain ⟨steps, rfl⟩ := Nat.dvd_trans (Nat.pow_dvd_pow 2 fine) exact
      have positive : 0 < Nat.pow 2 k := Nat.two_pow_pos k
      have whole := roundHalfEvenScaled steps 1 positive
      rw [Nat.one_mul, roundHalfEvenWhole, Nat.mul_comm] at whole
      rw [show 2 ^ k = Nat.pow 2 k from rfl] at exact ⊢
      rwa [whole, Nat.mul_comm]
    · exact Nat.dvd_trans (Nat.pow_dvd_pow 2 coarse) (Nat.dvd_mul_left _ _)

end Double
end MathTokens
